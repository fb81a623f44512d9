import KeywordCatalog.Text.Packed

/-!
# Names of symbols

Punctuation, arrows, operators, shapes and patterns of dots: code points from 2000 to 2FFF.
-/

namespace KeywordCatalog.Text

/-- The names of these characters, in the packed form that `Text.codeNamed?` reads. -/
def symbolNames : Packed where
  steps := 11351
  digits := "
f>D#23T#u$9GI/=@&.(vmo)CI%zusou=5r%Z!*Pj0U#Ml_^qrQXC%*k%Ga[]fpzypxw@h/wmnrMBgnhnkevd<z2#wNy`#^ptqah(
U-tR#P:Wc,DmhMgW>O<+U'4WS+<u5%0ae_-#br=]<1*pX>9AH16Q$^FnA>Vg?f&@H864T19xJM?F[[5/b:ngb'ka&2g(p+XD<f1/
+btVsn=pEZ6&lNh69J=[PkTshS<RMRl02Fd->.:/_^O]jyX/*g8;jEdCgo[3Q5]))QVacFiO[m!,',qBbef0.ISQBT9-^.4<*D//
^6`as;,GX=FS!#C/!tG@f/79%W)QF1yw4v-Jw#(]NE!DdO12vel252-iy)moEfKE9s9vLBg^6*tEN?ilDjCI(7aYVM[?:%,mJ+Z]
S>sjnZc^n].-^?pc`MkQ0,GT/F5D;m6-b]/liHdWb*MRHqnEIB0xkrunhP3&!zub9rsnSSCAFylYjeX.`s>'C9Woyt<%.8&ycr^r
3aN@yts3X]#EzM2XzbIlx:[b3YP/y`dty_D7C]!MR<-9KH8wXS2@tK&cG,@+9_)hDgZLIb0RwVbllunoTzhjukYP+!G?61g6Rvma
c0S,#QY3(6WL'#9)n%M'Gj1h2r!L8,@k8j:BEKpvB`c?Qhn7UD+^rh^r=ci1^NsS@5go)axU:;%&A]jm?3g:3XxL)vo2iWq8hbY?
kEM>z<GmFW>(?hE=uE&vsQJrS5XCji;aTB!Y@;v)(*+rQCEF&)T;C__ZX5K7$irfyK$/sv&W867Mtyi0?P+GjO4U]XAz+ehvZVK,
;IknxTT2V=LR9yskxo)(Fym;>P>q.7ur2KJmA`0rSA2#EXXrg+`CCx8DI&9:+C(b#uBl*8EGWKad5^),@703HEOHeXWpP!DW5GTc
z9uu--QmRocs)C7B=C()7wdPvK?56EDwFy.VBVi5Vu(m>7TJ'Z``2>L7*'rYF]d(R]:=3#()/_9*wm>(U^vh>zw,[($fW9R;C)^t
BIc2B9ZMpOJ-nfSJBvUr2'w_oRdWnMSKdE$'5Cy$TsUu1Qz=V2[P@zmY`5*C-wJ^a.,:D^z'ee,MSjw0xO-_s/u:h'LcfLzF[:(l
Bh7Rw*?pmmS2j.GS]J#shJv.F(=Y76lhUap7Xxz&P7TW!'27;1H8eP[YE?roo+(ikfOyQ%RCM0IR3UfW_m%<X;vnK)&-$H,/*SM0
=%CiDTws!JwCYLUdh;Q_b9W:<b5`Um*UsJ+T(bmS!DNt.(N'!`dv(F+L0r-ImBriMaB(@57c35DFf@p`1b(FB6NLdU@nZy,@A<]J
v+0tHmL>X(5V[)Ai1np)@P*TYKg]MYPyFG#K;j.-dH[sq2J;:qhzUoH%F3PwDzxe,myKm46WaG9HGQMZZ#-h3B2XjyX1t#=QJiLJ
e5Hl&8To)xeWxcF!Is6clX2*%B&+%b'M[LYO=uj:.vIv!QDV-#voG9Bs8s7&:p@)A9G)`Z@JNKl``[gQ/Q2'pOPE=y_msVn<4+be
aRs-])EI`!=okIYz@l(p4]/:Y/9EJ!:phj2Xa*h5&TDwTJ*JCT2E);wrDpU(C5(h9vfgDP#Jz2kS-;ZkZ6f>bQdF;JHPR.acGwV
)@l1F3X*[!I)YWyRWbL/s/bna/O')T+#U+tyn%j5$,&xJ:^*9`QlH6Kj*.l;-5luhpcX>[qyG,dnumU^?/eBy7_h)=eWg$bel>!j
A(^:vfFFJ&I^%%Nt)twbOcovQ$0H#pMs(H@0:iw*y1%RR__,PKbxz.vS?L9VH0BoRq/s`mi&DRWSk*O]cQ!Eb_-i&b^EJJi+^hF,
<EiS`(w)<o_*+<L`B1xUTrw<-[2<pvKR=oH7(7fb^^V'.w%nE^*lhALJga<!7RG:!!c$%-D1Gxi,PeA79S?0do5(kK8Cm`Dl'XAY
e#!GDlS__KSsL'MC_gpD!.YyS.;_!3wV!Fp*U=)F8_BVhUg6wTMt-4^m(9RFQtJc+5kn^'y96&+K`1@wJzBbz#xk2y^zGnze&+U)
RP0&R9!quQk(flipH`/#*?gTfMY!>1ybCxqj><7DL;kf*efB:Ww4?uA%!RMh`V/r=3i%=hqxj]%hBgwGJ,Qi#3m<l_h]nt`8z8ED
<CbZRX:dVg3J@76remtFKCF(_,jLqjAbz'DXoN?X5`!:8wBC7IVK*E<F1U(LMj708L?:^T0T6S2Cwuj$sNp=_5zSbV?y3t<G1rsW
zo&tEflFS`'3Y6DVrqfVs=](<7w=bTv,!S>0*jUmWDIa'7v`<aQB,MDD>Oj,_ii4nPs$AC+&w#P0RBS1nJeBTAwg]:NIc:L50Bh[
^2+*@Kyju$qGKhb'[:K$Db]=oXyzMzG+0/E^v<)_;St,8V>x4Q+Hm?RYYiXaJLUrv[yaeTU*,J=f^#q%%PZq=AZJ;zVxw0#%()/_
LPAnFnx7j*SETA:t*H!Pn=$I(i7Acb=0_(u.!_mr2+qC0$rCy'9n;fV9vty,U]<rihOx.Y!+Vp*r9X1W=J`-#I+`Kz?P6-)QCo&?
lqiRk5oAE,l5&Hcq-Qa*VX1Ghe<&fB'zTC1L?5NzlycwafjNjQAOy0JN[[XnzR_'I2bUh:8s!va+'VHUG808u]=?Js3?IY,n5!83
W5OH&sOe-Rt4/=X1c[+SUgj!`30%^dntG!0?kM%J7L@gbdb+8^9]dSurO^ONBm=!t^BLd%xKw^OxC,[4)W?J$X?mt@p?YbPLaI;+
,VtUu=t4ThXaU5MSvh=tLFVl>d,UBo')[:Hy7YWwdWVbhd=dH6A%Q-SzlLL5TSMo=wboo?L,q?C(q!9^U<Nt`Q'N<m'pPjXCDw&'
<G.a9l%;igj'!r%F@p<LXGM4]AP<_x)eTrT>6p>e?^N^cRug`[AY>,AE.YXf.ohkI5n>336$CUfp7&A`>eSqbytnAGYiRX]tZ!Y)
)[iNd/0]uK&Jkp/8>@/Y,;'Z4FWF:m1![4,(2XK?egiPf8:XmZQZB3MU0:jR4L6a`r;fC%ar]8H#&nbrb5DqfRLT76HLR'aaW'rO
QBN@l7Ux&z?%bau&Yz`:G/)gt_=:6=f#;4[n^;B5gXWkX7hQ/L9Y>;ccev+Mq)?UP=/efU-Ix]>N4VVx`cChQo=?2qMG!c)oE#5$
h@9B=0k%ukRj=vK>cS4.,3)%0oiylT&VN4s0%betA5aR]IQPt/7*n_M@Q27,#MQv`,ibJ.uS-NtlSXq]UFIarU<EKMN,gcpO1AyM
5a0`<&C,]*:4BJq%sJAdrhD?27j4`8qV9sYHgzwp2EGJagGC$Y<w8tnR3cCHU^jKW!$'L_L(<$D'DW;PsF78+r]VMe!&[%&RG',8
0g1yzr4Fq%#-KX*0.$bH)0:z?i#,f)!)+3KtjF9c>F06*q^h1bu*?8T/.JAUD'X(D:`<@YJ1]WDK^dUJ;`Vv=M#7HK!2_KG;,,'j
T)%LsSU'6X6NO&UM@vRqXu803]6?iOI78Osc,,nAmYYL;9enpdmTY-Zg$;kUS@[=f_3cJ,``4=:u,c.oK%e)-V*2HNBK?;2]Xxk]
4u.(olg7jw%]Fi=gQ^Z6>BYBby/>&l6t(D$F37MM@>zF4A#H)UJ;Ve/g@[?r+fjRio&t/Obny8k@XEqzt,0yP<7%BTTo7;CFTHph
KVdT@`r2bR+`r..TV?+AY8r^rV;ot1J&/I-#]eCWk*1A[v0<i+9pGs%nG:!M5JG91FC;@ws,I(MKt)ga.$Ike=4Ym+:pGJT5&i1&
QjTX.31vBRO7<%!7>8(#i*8L[)^EAgz<lmYN>RbH=?q3a&t%q,BY.*FkzNU_iMD[i3CM2[<yvq@XF*@$JH^7Uz;q,bNOdElx``FH
J^p>6[?X&;.prn5e5m,MyW%fD8t<(KI3<I]9pNIc4[uN#-1+OMb@Cp_?sLt0CY#NwSBH_DXX*HMY$G[QMj(ET;J/Lg=)%MsLmyFH
vpwI/cE7H$Km_uI6;s@OuWZ%gj@qJ-sO(NeM5PlwwUq!i=&&k?TgL0Oq;41;N/8%TuwTbd''ef09%s%6%ep3Pi0yOOaA^m0eCuO$
nlS,Ep[4I%=1$W7]dmeNFbWM)-o;A8m0Y*3rbupI48$)gWbh;mZtD#W=`Gk78.IPN1DgnkmB!(0*F'4AE-Z!K,CYw@4D9L56:ZI<
tQ_WUq62GNxh*+2!_)&ZV`pOLwhwo:OmOitaV)&sFP;.>7!L0SNuu?zc7se#ITg;b^-Vc)]ex80?f6$C?^,Gv;HD15i[DrB%MWE.
'AyIkjE8[s6>I4D(`*l*rf_3WYkg-faTR*;^@[,N%!^lWu53QnW/eC)it%%.@DNOwL$J;>Dy[s95nw,_[%9W1Bk:CK7:',2b%1/y
bQy,e;PP]7#]I2xN'S(pPu-A,C(S5Xh_:.+*;bESnMKR=nni6Yh8fyA/Y;$:;Lgk;7L!ICTRfP,QE648fKY'!r:s!;lpp$Z<Jic
F-h6HC8I6ZSAF78u>,PzO,fb<]Cl<:65pcqvE9CUwpF1efuW-?V]V8zByj$MfirDLJ0_;#.!]I#,*i;RUZn*RW;C^v6Z$EkId$Yp
eL?[`LV$rjwNoX.2Jpqtd#4D^T5e;Z:WD+1@TB0jj[He2xNbX27]BHX^It6)nCF1nST*xH^;xO&F3=-%ddl=*>A<<Z+u3u;,G@r:
^y[o[.b&WBD;XO58=wb+AxQ>vB.JbPEUo%q&;`C;cWV5WQt.<+'YyKGlv=qB/vEGx*)/wE9^0jmrKw*#7sqFyFIUL^'b]D-WkR0Z
)ZIIaGIj;XKawe#cx^O8QEJe5o.vdJ*bP+DhFdq2_kK5WLKD@d7Yi%<kRaB!v%oNx)s=e;ppB$tyXVLFJ%XuK[MD:i*/T/ws-R,z
FlO?xKQF0$mQp/P!ivf13Hj)O0<?J&Hyv>Zjm1%u=lRog%M4jD*;0YZY6a^*Q;Ng:-I,fjl,7am5ml?%sallBt==uEYcmIzjXxEe
b%wYSRYd@)4pX;Wc)XvyuYl+^@7Atgb/ophHsE4kNK*Yp2Zq.!Mecvcifm9tbo6h[zhYHr(ms&QB7`4Gxe!^An-%XlWjjB'AZ8?g
<NgT1/qNUyEGOYNiN;@:Fm9riza)[0Q)19+'/tsd1@+%Aef[R_CX6KRJ/3ZZX57<D=sE%9@9sY;ATmB=?Agjr9`l_zb!*q/V@rxk
iS,0P%RON;!>!CE;Gh=8yC_3t:)::k17Ui<;;p2BUanv?d/LNiZ.H>fFcS&#zTn>=$rg+=zOR>e9=3hE+EvPXE*1M0,T%DQhY4G.
ym#/VZ,,H(=;>[+;zci%ub/G=c(J$Kfi$;)4TlEDf+oFw#_&Y'mK9)+i4vn@_&Rm6AG7mN_T92[_l(I+[P8p6.z7eN@Q2HVEyKh
&/1'p#GYE=?gC4*<`dtKXsi>/,%RemMtw>OI2!zEa9<hd^@3;?E='ME6Es8%BYJ]Dx-.vVmRBL8/((45D2B^2dY9b=V6:)&+Kj2g
+!TPkC`I[RTZ%][YF&XtRoJ'lAG]<ywOwL9r.lo%&.Dx!yacKMhpZ]W%t03#lhiz-_KDoXRdgI<H=_/*A)uU3Q#fGQF>i>vlrR^X
,tzzPGv.021B2BgiS(Eumj7$X6_C+<CEEahO^*5+5z*)F'ug]P_*A-gf!)@!p,.*;YF1h?H^0;xxL?uw=>6rn^XcbJ>A'#ngaS[<
6F97c]ee)->*_)M6mTpPH;_h>vQX+&E4@pAVcOM;B>jp8Gf(1BW68=IvZpiE22$h$hXt4XIC^k&)<Zb^tR]UF:Eh7G)NEhJ,c!CP
LLk36s[Jz/VH$3hNDYGWg!%n_FFG@'[!Wmf]I,scpl5hLNdFGu;&PKySUfc$j+Ql^Lpp?FZJ:'mo]RCwAS6eQ95uqFz)NbLF-E3-
AGu1MT0J.8v?xaw.L:KGo:Qhcr^5`5Mbf+aJ/zar5ekePT5n8NQmYKx<UDrSeGm`B(X_38m4y3/^Cml9b.]H+AhBsq1..LJ;/a`J
AvgQe@yPpb?`dOWIRe/(cmg]sR4As[Es_;,c2!+&3`gN5]1YVhLIfohn.wQX!UDZnBkayYe[S`'K'F7[@0RU'6g3U(.PkA4u&4x5
9lI6ckl$-h8fuP^(F*5Ob$Zg1ThpCFoTo+QA%5b$,RMhUFF'`9hp%Er-B/>JrH5dd5g+_UZSgcaX)$zP(zyiD'u9Dvm>m(Jfj=$u
?)j60J+.4wh.?7M7mpQ)rc:Gj0'cS>9XRRsq<=F#1qm71*aBT+,l'i+Q#(Ng:;N$GY9k4ew-AC^&bCd`n9wZV-!2]Wk#>XJpq0*3
4X`P^hqCnVS7T-pP.Z$5BIZ_?(5J0h?dxp44c>&Pe/.jO=,6z9_3[,7/kA*a@a8dY4q;HYEJJi8sk4C@;hdHb`DtEyhf9XwdRJ[:
p])m&LEgv7k*WIAhtb`/E06tFnwRtY4IN8]$SxY(bm,?F7z44`&+/1(sqJelNsb]zB)USoWBR):(t^3$EPkPUO&uuE&VlbC?m[j0
58XSZEtI9q?1^pI<w(@xh't)q.x]z[buN$&.</d`iKBP','4)fE?4D8%MU.8`Ggo[(A(haFct)YU,ZJ^wAUG[?sF,3%*kzyV-bnw
Q%<f)D,!m[k=rl;^&+p;Ke&7kW3+9:i]GFqYF&@&[)QYW:o&?GuAuOlVc?-)j)CT>7HW1Haj.4aDqJb'G+MikYtH(3m<5nc6#RQu
WQ&6[n4Lk:S51FNl@C.;d)j9.Ih?ST!2l<c#JBRD3vtX@H!(ekrNI5;#0q#LiGf4,PdbQIdC#;D(x10-?G:=y:a!'!U*76pKZA_L
75A,ulB3VBSwX?!SVjWV5ZD=kZ2/pZj%hC#&BP97bo*Z`H.@`piA*K<Gc'N_S^J@=6xXb.)]#'=i!$eE#YDp(&YK@ccNW7!3@)4d
`A--;K>ppA0w^Q+m'XF)dSby.dl.2V-zYa]elV/]`X;f5jdQeSqsu4lgENw*D-jz&RpuUdd=X^$FN6UUHLySXj/=37oFqg^l6lGl
kHDK)7iaGi.e0j',!y`i'oNT2MVQH_,F2Zj!i^ha=46uzryo_h]Zjyz?Ka2q9fh^kCD'HhxLmfhpjH8jSqSu2[jmw_&C;)rM''e6
5];hUY]_28PbRr[V[$CMq8I.^[,+g+qro`+.Mv?.V!&@#X8nA&h$$(8X;238Lq=sLNMki7p@muDe6^^M1O_Tp+Uy-uD<BFHf%gRh
FmAP,/;%dR+#,]Ux_+^n87j4`2Dn9]f%0<i.5>Mw'Z=J(p8f?A-8-w-9=W@8rnM_t4aW]JQSuddy-dx8hF9Uov,4+Gu97,`LXMO4
?E>$4=Fbh499Opnqk,PQv9$ts4BONl_;?V'!7$(#i9EiVq0R`xt1F5;8cI!f,O@-l-pf;FmV[zbF0GEy#zJ/'qucm6e)%-`=cn=r
8d!61:y=)chyE^-j^@j(mxL^`&3(tg85KlJdl2:s=u'Jw(QYQ/o=DMFMevoI1ATXv(VRFtEh$Pj%;yA1O[CeAt)!.WqFTI_`7FMG
Rne#bXLi-q?3Ex(;r%[GFtue,4mAbAG5vAIT$P]c=hYmOf-xw*2D]K.[F83b$.RGGv@6:5'ZX2ZHep(-12+g)m(:yQ7zLoQW!$Pr
GuuHuvl;^UxxFS7'4CumwmlcU0`&pC2sS5xY:QE:Eo=HquLdWT*)n?))OYc9yZQZ3=mhm!hP1#y;Qb3qq]r3@plW$vICwR.SCKK-
l!H:r>-*dTCCt.pzT6wlr4^huabWJkomAi[ICLA(WBcIzOK6l#Jk+i6vTD3%>0$Cxd>uba`WTZ&*ns7GOwhzSYV5Hu_SUc)W6wf
g@iYSV<=N2aF'wX5d4h<=z'DM<0(Mxa?z[FjsNJ@l<a:p^9j3Vl.X.B%-J>Wga)nC`]vaoy:'DItXXAj'`B`Jv;2osiFErfOH9oV
EJ2UZYz*(.as^w,St[F+/)BWEm1LRtx<sdq;6oS<l12K/C;:,JD3+KkrB2I9NNA;tLCO@nD_GZQ!x_:hkR+gYJhMlYSIf^1gWo%9
^l[us`=eDa0r_8YvH)r/RNhb6W?Bh@Ne(6r#,5:,f]6<MY+f,@>K8lnX4hP>nwI)QquhWnG=>U3*!`zHH#@2c9M%4AGN1sWq#15s
_HNP5C+#F+cKG6hy;M'!6W/pJ;4K)#GOg`tyQuY.G)YHl8Uc<)Yd0ptc_6]3D14'I@tT[.;B=jtM(N+bP1vtn_0<75M8hW#A?>gX
kZ(=3sX&V(+'mFa&el?@s#'Anau9bcia;e]W*:-G(-%XzC`TXKPt!9ReuFIfFSh2s%3=KO/D%T.q3c0S2B:?aw2ctB&,<F?:>Ecc
y+,MiGa0h_<H7rD<3)Jk%-N[O_[7*SQCBGY1[,tQqcRP4VGm4-*8,tnVzT4POGT=:.$<sc?wGbj3:n`NbF1+zt?1s$a1dSKw<nh
O/TUe]znj&S;q]gL$C(g-u]Qke2#MRS$(6<pj+wfJHn=!/Iv<rkXXO8N<jk>ZpHIchbIO?&k;ZWr?^vyTpt2ig>l8xp&FQT5s-,O
.ao'6YjGJUZ,.j.WbpM&Jtq)a'6twmL;I:]FnHKF3S6_<7K1xhFPu%DN4$_Nls]D/jx?cqU=?F[++#>WI(]&sK_2b51RB)>/jB*
k@OabEFU?PH=C$`NC5FPI#!>%op%Y^l'6ru]x_cvcW^gx92AN;=8U.O<t,,l6;Mo+t,pAMQnQl=G@H%lQctWo)x+hGdc)C:i*+gz
Sq)[wY2?@0kuoZ:hUf@-^]9bzzwGX1&r<yAIraW:@p<IHiH+5$g3jdm[!EN*Y$oiW(W*j!wdoJ!Xqle+-I@`M2).T#:Fi.g`I7JC
4wuJk=FC-YiQ$?cC=gBj-P1$&b2'VhL:&_XZZ-16[.@X,Kw59tGTsrAd8?kW+ka)QKb&Z[>#!2*x3VpF][4!#?1wIvqU5%?SP%61
T:8ZPSei#h;eX,@CUcyS2%;877#b-#6?U&!;,Ek&.'Cme%TPF(fe^jwl5Rad7y7?>]SSjTrU2*&ml!<ac<M>'G14ch$B;Ld>eK&m
N4sD*)8*Z&9M`RXmYzBL;!F%UqG1z-KUp=EEQ_yIE/M/^;t$9OS,^j9`40$nu6eeD'RgW<CZ4N7F$Swg=e0q.8@o`tgYgit3+iwT
nf/`q@cVK)nlWMulS5IBU_X:ZF)P%S=VcHF1^BCJ2)=DH,CI&/]+iK6_sMt&/1FdZW<j2x=QVfD9i1_?TGdT@f,ojO&y!i<(oa6X
q2lbXO0i]Qt&?fqUxJ',w&?`,bBnSeM2>0L87(SHIrvIBkY'2^&j&P[pQCoA)uxacu40/bccH)$P2]t^tmVsu#;eW+Fe#kU]:k7)
5x>8KQsh3<%L3R^Wky!UoN8lrmZ_PmZ.oLEeKPMEIc$:lk?+z+jFlJ'6S:KQD,>%`ibxOsX?cn[<2,>9x^BT_rg]VnQ.a0L27VW7
UN'-N/02WakI.$J-2n?Rq1^Njzg(<r+0Xp(<98CpfO7XwFz<x0qRysscpu#(MrNHHIj`o%8wXi)6et!,e6mQyX4O8YG59V%pIW::
E[*ojKwx:98v;1]z.s&t1&;DB:UM?H+uM>,BMpWb/^Vy`@)4J8zj1XJ$b@9(McQzN52xidBjY3N!f%5?4F6&*gn@)&]nm39y=]D
'@i9hUUSe2ji7?f4*W/y]GNzoFZmjkHn^`R?o#km,6KUKFmS[!P6%rfwH]F9%&Z2F^NMchp[5s6uijN+VBaoH)E4VW3uOsxyc@j$
z-,eAH/5VWqN@-piCOjI]UKARV'#6EyI1BQeGD:JXCyu3U(tVT+<Bt)3'4*3`Saz>e,'<rg]_feh*zAWxCM-/_`0T=$&-+6ouBja
P(MpNU9I,vhIi]t<6dXH/]YfL>s*M6Cb@9!5fFqc4)cRZIPuC7`'%xWgXXDAmV-kXwz]gI&s0eLQmHcF*`N@-/PW*lhn;`YT^Uqc
oNqi#V%He,8fiu)w+R`vanX]aWt$hE3(!+vZSgc1w8-U#[FCS4q9sSdfQ9,4udrR/3d:EN2m0Vy1=3_OE<--J0F1<3JA+t>6V%Lu
]V3msMD:Okn%cia9^weYxc<gB7=XgnN0%[`a6/+5+V0yiDJeC$7r]J-V,/5=Y.qR@FtD753yvo42iCj[B;[#/RwgTyy-F!q,4Gxi
JKP9u&CmP2jLQ^0AbO66%`gZyo43QdfbVW/=QetZpE64uPyf0V'dvc[#NWwokz6Uxj)(<L%Agj'WTG5L%UfxX]J]VIp&wzucB>Ts
lp)M<5i^MREMxnPB*B@]I(&BP)pK1hh::3fxN=dZodXL5a['?rsRk(``;!&pCRhCBJSR9_KMMOGR.<HL,!&W^=K$ntU3diI<YV,c
3vF<TBfsEhDp:rFWqJ`iSu2WEzyIh@&?nFGx5]=>RLQ7sOaV9VM@lK@?zz2;09/u67NWoxfP>XP'-;p_7s7'YYP]dod9)6n==`g(
sQm&Sxt5IcZ[ds[sSqc5gJl@=h:KUpGyhMi!SO!%XJ9YY<g:'8=TPFuT!$Xd?,;q*My^1TIZt`t:tSf/d[C;fG*+b+9M!3tb-pT^
^NOT:K@8GS.-E^Tz05uQs0Lf;vPc.y^[j7G_Xg/YGnNJ9G=N/gUx*YM/0snO__s]h)vnW'9)8qGY6<+-2_C4d9'.%9;U>nk-pc;L
,zdPI-j(mjR@u(ynYH7/?azcq$iDC=El,Z0:WB4Qqr`JA?X8Ppu576UU>^MaAi@I@'z3q[4YGw=s)Y%gL5!h@aAp4G;Rr]CG_=)I
yQGx'6VeL,4s=C3rbM'W#KK2,Qqkbjy5r]rADNq`aDX;U&O;.0aL2CN2t3zi8khS5Ye&e;wZ+,&g3Hor@%9eJPh/g0!,kG8t^e84
SE/<Ts8>]i3#A@$;:=O+^FkzJ8u8@OLoU!7fb[(&rr@q8DEpqcBN?(fN+3@Je%wnv,6TbIf<Uk3`46ZC[vh7'bNE/;e2=7yxH%a$
OPy=q8qcg+tp47EedMCcL93k/Nc1ZuFN-k^g?XhK>;3P_+9Ya-:@mhJ4F4P8:SsBw,T!NT+,8MaDxM+)r(2k?qKlM7[Pq>7b5v2E
YY(Lj-mNMRd6zveaOSU$0sXU^NqK0MfWEz/KV;%BLiW-O8LoLStF:gvLc>D^+2[2Rd[2(*F9Z$piFVT]FGMUJ_BEbG!.++R@1A^q
uLM@OPz/5(!>=a/$bg)8H6izzA`yI,$Bbya/KjI]qOOvpwr1ETR$h%`T!vy:RU4ED1BzO5C&aNGl;v,r+`Z]jfHlxEIT4SqcgUZG
M4TFWW]?iUyA!:a0Z]kio@):YGncj@a7SFm86Dj&D+Qy^]LY&0WSt3FnXBhZn(AXvx,X)`9gThPcsY0;H5Cupf@WHKN$9oWlaRTo
)jyF0;IwB25'+Gho_h@+m>lynmgr.kuk5C;>dE3FYpnkj&wQDrI)9;:;^7,aq],_5xz5;><8Zps*0G>bWo*!>Sy@5hXw9mocqI]o
q#E+c9BGYfn?AUqTTeO^L9[riUC'o%9h<Zr&fN'jc?&3]_n&X>u,k7Xgim<E2*+$M5S`w9Gi9m<g?3o5^O+?^`Nt9<G0s>Wk8(z)
,r'n!.-w?r#8aDwv3E@IF/(25Qs[?WgO[up&l0*;UL/6D=YUa,],7NcJ&O,,iQ6khrJtRf4oj_dx1+KuK.;M]a0mgvf09w#d:VZ9
JDK'^O@(>*jf,e)E.LDI!-=Y2_NTb%A.&#+upHj<zcg&HYrB[ZR`rC6mMjxFZyyQd,5Cv,GYvg)vWkRTxJVh<gOOFEB7rv_TYiaw
2?*/7P8j_DS`Ms<qX(2A/S^Fv2s&;rn#VB_fHvw6I:BV_2J#?giO(hnci#yVmm4)RXy(tr-ggq)W*2Ku(_gO##,@G<2&N_.7-g;
U-PBb;hJoSf:]g3NA`M6Je@#xG/8h(XpzNUXLvI!DRT.QREg58o'U):7oh#T]GIA.e*+bzK62P]#[5^?9Tk=F>.P>@:G?<-'P>;+
:hMD'@gPegx*naw.L5&]f9/N9hKZhTRkYP.@?AihOh/K_#pAZc[1*JIh]RX@SBJyYO@u!algo:ss'k8&5QxR8m8Ey3]b0mTQoDE&
,bQGfeH^F)oSORE4pGP<M#!O1gt_)N/m-olo[==bXbm&(Cv:XpoXJs7W@<ssM5g'ON9<tB0+aAo>KZvuO[u2anv;EcL(@]^WG>J5
k7?5;W!iu.P9aiIx#yRcS%W?,lf*yve_=Jo-WUc05*PIHijF)&]'O'ytK6B10.YImEa#e]H#Pi0<(Sxi3?6f^gP'o*O]wEq89Rl4
h#v4zAt5h1jJL0!cl3+s10fRO<)tr9y4l(n1Q)ZSR6?$R_kzE(<7@dZezcuU!beF7n5RG]b^#c_C,DlKRj_f=nC,8Id+geMw]B3[
5vcu]5-Ai[kwvnJrP4pD)es=y,9*d<,$l5m%_QqR-6H_;jrw)/74wocxvfbTqQ%hGMjnk&BK%RoYi&9sXX!8bDQ32<9v^T;;)aWN
O,#acba((,3n(0cBw-rONie?(x(%R?Q5ra'JR67pu0i'-g]sBbH1=E]0F2SwxOm^yB'f!f2?.?r=U/'(Sf/HFuwy^y,6L&VylZAS
q]pj3HbwBa^#56Quh-SN?oyL,dE@(O<z'**ySKFc3k#J[uP57+3ZomTKl>(W_f^ep,xI0z:&=tye:*TMkk^QvuCjc/lAWe]AY?e!
yYG&GN@t3AT[mx:3U_[];boap^UgS)HvRaLC`??y,cH.>gw/1(LoJ9NNYO=HCE_p?^4n*B'^P0HfUDu_G0%vJhmznmT7Z??(3Z83
oMa3Q&c,,33R>Z+5qm9z'zbmvqx7AaEQ!?brH3tm5m3hZ_OOz1Q;hf6C#Pje&=bn]/j)S_L:r2;rJe5VrFAt:RfyY%y9cUpC!7jI
XM3qv_N.o3WihjvX)@Hyp3K9po!xt2C8p&4;4OHE9&Lz4(psmZ.K*d0@'81o1bkPibLe+dB,KT&FGa>ccn2?0(KQ=&1gKkra-!yi
Jp,M:ITfmLhzPc::<vVFoc=9).$l`kQLw`&.ZZCDb!d)2KrH_b+wN:/]*xl-7*VPHAO0g,h4Fg<d`+B%ciqO0/dKCD7N7<p19r*k
MsE?/2-6eN-p=PLKFU8!wT.^<q-q_9$d:iLEIw#NL*<hm[[JGB.W&qXW@S(SL:b5oGrE?m:=F8IE.!(3jGGKbFH8jy1q^^4@0=av
Bt7QCDyP4/GBDzP_V5tL'oVi+OExvl0i_`67BJ!<gb1h9vk633;Gy1xOun5815]RK#ZURQ3c7WTjmWHQT!s;VFz>%bbMbQZTtXa-
g3xV>D#uEdm,GL,4x+fdq;T5r_XBAb/V<1VD'/40Gd8,,mmJro$P960fVC_<F&,QFE?p-$6H%G8)A&T+C0U5ZaoATZtrBI&]te*x
sQ?S.4R1)^.w+^M-(MVK78<X=+)UCe6*YloXd?RY:Ow[HB0Hoa.^qJyqSZ#R3]>U@EpC)N-y4Y;HakdKLG[M-vN6O7ly=Uc;d9yp
CAJrJj5o4F9lN>HH^s3?En;0aQmHNsCVQ%BJ]Gm'/[ReWPPyD!b81QA=(vITP2ap$inA54HY%.*XUNcQMY(?*Det3Hb@rzaifMk2
da3$o9KuY6Fxr(-lhkCB45_Kk'5+'G*G6<(&ID6?9]F`P,3<LSY4+W!NPL>I,IuI6s#cVB-NR]ZXSrj9i%37xpEJHqR)XdzawYR
W-W,H6_-i22HbTY%l7YvtPUsU,Nebi>frGE(cx@6&CZQbT,o@LDu+*g7yW1AxEZMb(x%fZtv5G2FV@Ca,Vqq4+WbX/0MjG$L1fG>
WWj>J_#Dty4W2nDGA5]+'>phz+v^Qij+h;!&M19a4<nP?@7%8(2&Vp%A74@cT;[^q;27rW_frm24'i:hUUzBQ;QPFo'l/;1)$gs]
oF,1TDU6-18760t*yz7swj:]2o,a:YqT]l&DQ:U-$FN@j);px=cr9?A5Y&852A9ABpd&B_q$%%3b4X?gvd)Ei(v)'R;2:#2uU#=j
G;Su#>L7;$j-#CZS]/1L:y130q=o,HkRE9lXw*0?-T4',&E<;2a&&:TR/GujhRixN>$O=RC39PtPQK5Y0XFev3Q@J_TEU(xDn/`p
1SiWAsrmw(ujNea$q&:q9,yimlkI<9]si3Y3Tvt<`p5=e_)U3)frce@8[lx3_dqQ;$n1>fd@&ew_)BLhB=yD/Xq<;KW,UH?(h!wz
w,rCEWXY?:IwU3Iha!q,FE6Kk<c2I=(_Il!$LX/[p`xSxP!Zy.+?FpvNK2h?Gz+ax2Jwuu^[a$5P:Y^wr9dNQ]9ViS;p0%qf9cle
9#D0wGPM>(0<OIcU'=mS-oDlMh&I.EWkVND[Q<lXoH1T]/ex:RurxsvQKh7)&&QlbtYb83w#:zJajx;*le*c$fN,xW*[bHe+j:nD
y?9_YXH4![pH%E2>jcP8P46y).&w)K^3<yJOS%#^WM60IWr^v!IUfW5L[X,%Nyh,D^yKv.<(%Itb$Rg4lS_)m&M`hW^7RCZz,45D
;SECD5D[EzX72?cRO<Opv=b?;g%zM$U.o%:2^M_h:K)mjmhH:9g(QrB$JV3P,70'S<EqkIq'Z&C*IuQ>3(i_=FbXV<ZB]+'Qoj?S
UUKIZ^mJA954mfa3A:kkxk+V)PWkeIXfgRoEZ#q33ICes,n.5w=MhSyB,/iWw1'JZpC#*xdb'Slna,0G]XWBm4GSTjVCisO3y^^c
jxt*L(*rfZ`Wl%!`(E/^p%AW>JQKWUVd_Z<5b-8fFub#1yJlOweS>!87h=i=DXd>3m_,WA,sNNd6#Z'Ckglz);seXAS*t5LH>-$$
c6/u5v=y$%_s%wV0)m>.vpdTaFml_Waq2P2fSp.;rl;9nt8W%A?>X_1#aqg7,JdE;eZ2EHbeyXbh+X&MJMl^Cy_,GeSszpj[X^.=
'yr7`zUDiDQp)2Hv1,UhW:yE<prSQKMQkJ=kY6FJCm5pzwDjv]O>)@<B1Hyg`>*YoFw3;V!1oZLIE9f)hab%Hc-3X,q:UR?Rx.T)
^aq88-+7ID>AK$C>*lO;v0mi(BmTWeR0]%_C-t]hUeC%<7NOk(Tl%6v;$^vmEwF1_EW7OPLB7eSX$>yuP9IzL$^2'S:CL0qgvE2/
4jtQ`DWRP@*kCJ_[`XSU#nc/,?9Yr[4vz_'X9Stl,JEDhB5ScD70!mnu)3_W5B5H&e2q+K0DfjRk,u,oc<A?M]8Wa_RW+T[_SjX8
zaqkIkPS<0p)fIdrU.BEXd;1BS@'T0%oGIsBstistTS2355,`fO>(Y2./Y#u<uePt=b?'?IR1UP0.F(_!BVlSmiOoXN#-2!PlRa[
bzpsG-JpzGmN:w)B5$KP6:Aee6Fc--w7624<,YIr@y62%`/Pu&U6s7_';&U8%pO+hC+k&x7LealJDn*(O(T)CQ44PKj9eC#`R3HA
cn55G=7`oPF9LxY'vW7SXa+@)WI(Ri#T7B'$zVi3D(dHy8Nb5+ID2<Q/8pB?FBxM2(,6Il`_S,:gVO]f+>MO1qkN5!k=D-qnhh0F
6]9[wPMjS`MVrcPfO_rLybJdEW8JZ<!?Nk8yWje]z<7@:)YLzN>zL,=$yYv-R8/m5*fF97kZ[HYNuPIK.Hf_,EUB/U1[=umb>ji!
..j@_So-aw_>LzY7;5A[+w(e_t,Cy1YKvJ*:USZ<afDuY[2h,nzzfIi^2Csir%E_Sda$Ke_z=Q$Qo9X.P@GUlnne-.]Hu.T0htpV
jo-fGZoocqH8%3uoqo#bSNBSigRhk(:EN'`;Gchi9>JF;d!nK6[)P(Eh'Rn.:SBmhrU0>L&a,-iW&TMQNF<S6eQMXH>5(hREbBN7
g.+z3xJ_q.MhaLuJ9OdVfgI*NE&5ll]PMCb!dw3WynO!!-san'w=d=;1L>Hr$K[Lr&A@O6y''&.cV=yb]z__]wjUdCS?Tyy7qOVH
uL'oMSm6^2f:hY8st4#v]_t@!M`sY*OwtX$T8ODXMv@ozabM83XNg]7GYOn`zXcg?=Ep0-R2S3G<(_mruTan4RW42[:!I9c#Ov2`
z5VPT&:R781:F=j@:28u4/x#E1pU6h3bT$BFdCx@m:]#3d,BEfbU.T4wL.jX)-0OV<H2966$4uy4a:i0ur)j1.Q[,#k1B_TH8APR
ul2k2D3XsAHrc+83N-CyaE?LnxY=?Td;pp28B63G[bYpF;jl*SvwiNN@HTODi7DAY>S6w]B1(h!y4w6x5_pHnSpTuFmI&zhtSy61
mWAP0hRyIV_i0>0+YGF2v>VN'tYS%$FUBNBOOx6Hv;;Am6]5XMvLVtEiZh->T]j$4`!_]9uj6MBpy:SAN3E)E=B<ez`B8zU,2]sv
KkgD5v`Xfs@]l^qE7xvo;6tuQ'a%).+7U.EBPGQ^Xw?%i/4:EI('I9xPCz6]ly:Si1o#KDxW/mZ)et[L<5ie9]I'eCC=HZ,&)wSO
)8%Uugl%R2(DnM8H/g(xZprOeL-LB@=s9,05Q`[OI7j-g_iG=G0X(-@dyD,P%0lJ_>00mT47tl*j5Ghsp6GXfT,r2%db9S8RYtS;
UWE.SOou$*U$;m-8='ZhN;aZkC-.f@a'i'he6R=$y3x1$U%fO:P&8?Q'0EsrorFgRDJbdvLS,b2Kwdu9L5OPHYCQxQ]a1ISgJL68
5)=U>O^bA8A&a,m4Brj#j<?WXS_aYdJRzqhKl'Z4mv%267!C`)lXx86I6.:_A'](k9ZF#/a'pCIz?)U=P9M`#RVnhc,7z%-Vy/#k
.T6z.iH!_eY/iUH;E'kF]FS!_KBK3'wUf^!UlkT[x<MM<D##9]xeU^U-@ZaUhXBip_m@Xc2xNZL)x1_fq+J9.y.#TM%``E,^E=^P
Ayd`7]/iiJ7d#SvQI,sZKx%d=Vy9SjPr3CQkO.T;l)W/jm:C+M#$#YbKhT^?ptFC;]HP8G%9uLx<wlg:/d+)XVf@sLv^Hf/)XdFH
.,XkTxU;>u4vQ3=F(hJa.8ax)XFMG(EJ22dYfa)/V4:C(UDpUpaz@2Q+u45KzXd,],EaRV_f7vFjUU,.TV?8Sjp`]*VadfK;S.C
'/oTz1p1*G5gn<HzO6OEglkVDwj:PVU]#3-3mY@!o&2q^`d#9;DmhBpl-2w#ZCY+L!T9j__>5'(-$tQ9t:`mMq;5-gu-gV0%4'!e
L+]rzVCr3,KI^<&x%_c*WUa>p`c1^@4%y,MHBw+8Pwa(MR)$q+ZO,*`-plD^FX]hL=$UL-H2kqxWzSmB]UWkq#-t)C_nRlTgvGV7
Hw]J-x15BI*N=xAl/&>$9:0srD'$Gm%[9&9A5^Xc.$(!Vxb%W..LFb1LR5-R8DQCzHlRZgo/A;ANEN#J[>L!u]Rm3wbFUK$#+p`Z
7@x=FJ[?%hOzhX3dB(w^uj@B<'jLAx+1>Z,gEuG`o4$8TyHt8*e$<k7l/,<+v%_4/Ab/xNR&uNDe:41x/Dq5*z!n8fBL_k/]0nX-
^rkt<Z0&BOkkW-1q9k27R(Pt&AU!xw`19qvX*-:QT8v5SoKp]>6UL9P^5+^pUYa%R]6qba+u^8^uVFn0mc<)RgE+?LBcQ<J_s+kR
SW2Fv!v6.YM697ZBxVZ3/Dt2p/Bf&v6x-au4wzsOL>zjyc=bVAAwveHzk_Chb+wM']n*`QS+,B6H2Qy_xnI+_V>XY3tHs$pU<v?A
nF2SO4?!r:_LROXZ7#:ldRxoi'40xqGgJ!SdIsi?a-`pWi;vflTX/jz44a=)fuEsfsRSJF!b#n#Kjp3skrT.i5mdi5Qze]Pi&1BG
MtpeQ8_.`#FX&7-n[O[N-.axtZP<`#/=>jQjDw6mW9Aj3x1<f^B7.l5uhV5^wuLi3X>:XHY9dHjgZF'C$Al[(3bh#'G27hWfo6i5
eS@F[P??NCu7eHU02l>-J<(Dy]*deJd$fk(ko^)NG.wtl2@TsIcm&y(%sne_qb]MJdJ1M*EN!fi)B+,K`@9tT(&L_FtB929u#j&a
1jRR+d1A*xLa%9rdr>Z8?,K<kuy&m5zkC]Yi,-(;5y)`3q&0x*zDb,&QP;W$`A+S/CCyq:XGj23-`Y014H8'FtNq^Qz^'H2r[)HG
YZG=]mK_C='v,aa#.q5;AQ5U8yhyDI7NCzc4q4?AK<koamK$%A$n>$rDSx5L=@AOV31yNEL,ZRcifnd7gzJao3&:F>r=@9>2*_nQ
RTH3iX_CW-6ZEC$fD<Ze#Z4H#)?y-,XYckVchQ^U$E61=n1Ho7661Vd_Mp@tbX6Nv_!4?s.J;g3.i,o-cezO;D8=Q>oNNc!xeycg
W@jtKzzSEv7HO:FW-oT@Fv/G<wQpWe#'0nZ:U-#eJXi%s*?rSZ=y9L?wL#qDPqH!7[pZ15p%m#tYsQ66=u1l_tkBn<GlmL),4=!'
O4j!`W=8B^eA^=F3bF*6xtU)q;DL!8hDHX(;i=JyKJBn#7+k#mm3iTvb$0Jx83;aSc_d.`+KhWAY$L%9A1F@X5Tn(4#hXF)5M?YX
>hjK`,;0Dg&<G1C7C6Y?Z&_ZZO7Z+in,SmrmeqqP'Cq2@l4=E9,m<C<V.dLx!h5pn?hgfi,`SW_nmS.ZPYLMUx=C/h0*=tK=dBg#
Aa)3ts''3$-Jg]UmtMj0ZAO42tpHNK*XGT*Iq0o?2vrpMd%i6d*g4W3B0M4y-3M=zQH."

end KeywordCatalog.Text
